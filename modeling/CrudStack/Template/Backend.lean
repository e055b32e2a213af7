/-
# `CrudStack.Template.Backend` — the templates of a Spring Boot backend

Four files that a project has once, and four that every class has.
-/
import CrudStack.Template

namespace CrudStack.Template.Backend

/-- The build descriptor of a Maven project. -/
def buildDescriptor : Template := ⟨[
  .line ["<?xml version=\"1.0\" encoding=\"UTF-8\"?>"],
  .line ["<project xmlns=\"http://maven.apache.org/POM/4.0.0\""],
  .line ["         xmlns:xsi=\"http://www.w3.org/2001/XMLSchema-instance\""],
  .line ["         xsi:schemaLocation=\"http://maven.apache.org/POM/4.0.0",
    " https://maven.apache.org/xsd/maven-4.0.0.xsd\">"],
  .line ["    <modelVersion>4.0.0</modelVersion>"],
  .line [],
  .line ["    <parent>"],
  .line ["        <groupId>org.springframework.boot</groupId>"],
  .line ["        <artifactId>spring-boot-starter-parent</artifactId>"],
  .line ["        <version>", .slot "spring_boot_version", "</version>"],
  .line ["        <relativePath/>"],
  .line ["    </parent>"],
  .line [],
  .line ["    <groupId>", .slot "group_id", "</groupId>"],
  .line ["    <artifactId>", .slot "artifact_id", "</artifactId>"],
  .line ["    <version>0.0.1-SNAPSHOT</version>"],
  .line ["    <name>", .slot "project_name", "</name>"],
  .line [],
  .line ["    <properties>"],
  .line ["        <java.version>", .slot "java_version", "</java.version>"],
  .line ["    </properties>"],
  .line [],
  .line ["    <dependencies>"],
  .line ["        <dependency>"],
  .line ["            <groupId>org.springframework.boot</groupId>"],
  .line ["            <artifactId>spring-boot-starter-web</artifactId>"],
  .line ["        </dependency>"],
  .line ["        <dependency>"],
  .line ["            <groupId>org.springframework.boot</groupId>"],
  .line ["            <artifactId>spring-boot-starter-data-jpa</artifactId>"],
  .line ["        </dependency>"],
  .cond "is_postgres" [
    .line ["        <dependency>"],
    .line ["            <groupId>org.postgresql</groupId>"],
    .line ["            <artifactId>postgresql</artifactId>"],
    .line ["            <scope>runtime</scope>"],
    .line ["        </dependency>"]] [
    .line ["        <dependency>"],
    .line ["            <groupId>com.h2database</groupId>"],
    .line ["            <artifactId>h2</artifactId>"],
    .line ["            <scope>runtime</scope>"],
    .line ["        </dependency>"]],
  .line ["        <dependency>"],
  .line ["            <groupId>org.springframework.boot</groupId>"],
  .line ["            <artifactId>spring-boot-starter-test</artifactId>"],
  .line ["            <scope>test</scope>"],
  .line ["        </dependency>"],
  .line ["    </dependencies>"],
  .line [],
  .line ["    <build>"],
  .line ["        <plugins>"],
  .line ["            <plugin>"],
  .line ["                <groupId>org.springframework.boot</groupId>"],
  .line ["                <artifactId>spring-boot-maven-plugin</artifactId>"],
  .line ["            </plugin>"],
  .line ["        </plugins>"],
  .line ["    </build>"],
  .line ["</project>"]]⟩

/-- The properties that the application reads when it starts. -/
def runtimeConfig : Template := ⟨[
  .line ["server.port=", .slot "server_port"],
  .line ["spring.application.name=", .slot "project_name"],
  .line [],
  .line ["spring.datasource.url=", .slot "datasource_url"],
  .line ["spring.datasource.username=", .slot "datasource_username"],
  .line ["spring.datasource.password=", .slot "datasource_password"],
  .line ["spring.datasource.driver-class-name=", .slot "datasource_driver"],
  .line [],
  .line ["spring.jpa.hibernate.ddl-auto=update"],
  .line ["spring.jpa.open-in-view=false"]]⟩

/-- The class that starts the application. -/
def entryPoint : Template := ⟨[
  .line ["package ", .slot "base_package", ";"],
  .line [],
  .line ["import org.springframework.boot.SpringApplication;"],
  .line ["import org.springframework.boot.autoconfigure.SpringBootApplication;"],
  .line [],
  .line ["@SpringBootApplication"],
  .line ["public class ", .slot "application_class", " \x7b"],
  .line [],
  .line ["    public static void main(String[] args) \x7b"],
  .line ["        SpringApplication.run(", .slot "application_class", ".class, args);"],
  .line ["    \x7d"],
  .line ["\x7d"]]⟩

/-- The exception that answers a request for a missing entity. -/
def notFoundError : Template := ⟨[
  .line ["package ", .slot "base_package", ".exception;"],
  .line [],
  .line ["import org.springframework.http.HttpStatus;"],
  .line ["import org.springframework.web.bind.annotation.ResponseStatus;"],
  .line [],
  .line ["@ResponseStatus(HttpStatus.NOT_FOUND)"],
  .line ["public class ResourceNotFoundException extends RuntimeException \x7b"],
  .line [],
  .line ["    public ResourceNotFoundException(String resource, Long id) \x7b"],
  .line ["        super(resource + \" not found: \" + id);"],
  .line ["    \x7d"],
  .line ["\x7d"]]⟩

/-- The entity of a class: its fields with accessors, and stubs of its methods. -/
def entity : Template := ⟨[
  .line ["package ", .slot "base_package", ".model;"],
  .line [],
  .each "imports" [
    .line ["import ", .slot "this", ";"]],
  .line ["import jakarta.persistence.Entity;"],
  .line ["import jakarta.persistence.GeneratedValue;"],
  .line ["import jakarta.persistence.GenerationType;"],
  .line ["import jakarta.persistence.Id;"],
  .cond "has_relations" [
    .line ["import jakarta.persistence.ManyToOne;"]] [],
  .line ["import jakarta.persistence.Table;"],
  .line [],
  .line ["@Entity"],
  .line ["@Table(name = \"", .slot "table_name", "\")"],
  .line ["public class ", .slot "class_name", " \x7b"],
  .line [],
  .line ["    @Id"],
  .line ["    @GeneratedValue(strategy = GenerationType.IDENTITY)"],
  .line ["    private Long id;"],
  .each "fields" [
    .line [],
    .cond "is_entity" [
      .line ["    @ManyToOne"]] [],
    .line ["    private ", .slot "java_type", " ", .slot "name", ";"]],
  .line [],
  .line ["    public ", .slot "class_name", "() \x7b"],
  .line ["    \x7d"],
  .line [],
  .line ["    public Long getId() \x7b"],
  .line ["        return id;"],
  .line ["    \x7d"],
  .line [],
  .line ["    public void setId(Long id) \x7b"],
  .line ["        this.id = id;"],
  .line ["    \x7d"],
  .each "fields" [
    .line [],
    .line ["    public ", .slot "java_type", " get", .slot "capitalized", "() \x7b"],
    .line ["        return ", .slot "name", ";"],
    .line ["    \x7d"],
    .line [],
    .line ["    public void set", .slot "capitalized", "(", .slot "java_type", " ", .slot "name",
      ") \x7b"],
    .line ["        this.", .slot "name", " = ", .slot "name", ";"],
    .line ["    \x7d"]],
  .each "methods" [
    .line [],
    .line ["    public ", .slot "return_type", " ", .slot "name", "(", .slot "parameters",
      ") \x7b"],
    .line ["        // TODO: implement ", .slot "name"],
    .line ["    \x7d"]],
  .line ["\x7d"]]⟩

/-- The repository of a class. -/
def repository : Template := ⟨[
  .line ["package ", .slot "base_package", ".repository;"],
  .line [],
  .line ["import ", .slot "base_package", ".model.", .slot "class_name", ";"],
  .line ["import org.springframework.data.jpa.repository.JpaRepository;"],
  .line ["import org.springframework.stereotype.Repository;"],
  .line [],
  .line ["@Repository"],
  .line ["public interface ", .slot "class_name", "Repository extends JpaRepository<",
    .slot "class_name", ", Long> \x7b"],
  .line ["\x7d"]]⟩

/-- The service of a class, with the five operations on its entities. -/
def service : Template := ⟨[
  .line ["package ", .slot "base_package", ".service;"],
  .line [],
  .line ["import ", .slot "base_package", ".exception.ResourceNotFoundException;"],
  .line ["import ", .slot "base_package", ".model.", .slot "class_name", ";"],
  .line ["import ", .slot "base_package", ".repository.", .slot "class_name", "Repository;"],
  .line ["import org.springframework.stereotype.Service;"],
  .line ["import org.springframework.transaction.annotation.Transactional;"],
  .line [],
  .line ["import java.util.List;"],
  .line [],
  .line ["@Service"],
  .line ["@Transactional"],
  .line ["public class ", .slot "class_name", "Service \x7b"],
  .line [],
  .line ["    private final ", .slot "class_name", "Repository ", .slot "variable", "Repository;"],
  .line [],
  .line ["    public ", .slot "class_name", "Service(", .slot "class_name", "Repository ",
    .slot "variable", "Repository) \x7b"],
  .line ["        this.", .slot "variable", "Repository = ", .slot "variable", "Repository;"],
  .line ["    \x7d"],
  .line [],
  .line ["    @Transactional(readOnly = true)"],
  .line ["    public List<", .slot "class_name", "> findAll() \x7b"],
  .line ["        return ", .slot "variable", "Repository.findAll();"],
  .line ["    \x7d"],
  .line [],
  .line ["    @Transactional(readOnly = true)"],
  .line ["    public ", .slot "class_name", " findById(Long id) \x7b"],
  .line ["        return ", .slot "variable", "Repository.findById(id)"],
  .line ["                .orElseThrow(() -> new ResourceNotFoundException(\"",
    .slot "class_name", "\", id));"],
  .line ["    \x7d"],
  .line [],
  .line ["    public ", .slot "class_name", " save(", .slot "class_name", " ", .slot "variable",
    ") \x7b"],
  .line ["        return ", .slot "variable", "Repository.save(", .slot "variable", ");"],
  .line ["    \x7d"],
  .line [],
  .line ["    public ", .slot "class_name", " update(Long id, ", .slot "class_name", " ",
    .slot "variable", ") \x7b"],
  .line ["        findById(id);"],
  .line ["        ", .slot "variable", ".setId(id);"],
  .line ["        return ", .slot "variable", "Repository.save(", .slot "variable", ");"],
  .line ["    \x7d"],
  .line [],
  .line ["    public void deleteById(Long id) \x7b"],
  .line ["        findById(id);"],
  .line ["        ", .slot "variable", "Repository.deleteById(id);"],
  .line ["    \x7d"],
  .line ["\x7d"]]⟩

/-- The controller of a class at its route. -/
def controller : Template := ⟨[
  .line ["package ", .slot "base_package", ".controller;"],
  .line [],
  .line ["import ", .slot "base_package", ".model.", .slot "class_name", ";"],
  .line ["import ", .slot "base_package", ".service.", .slot "class_name", "Service;"],
  .line ["import org.springframework.http.HttpStatus;"],
  .line ["import org.springframework.http.ResponseEntity;"],
  .line ["import org.springframework.web.bind.annotation.CrossOrigin;"],
  .line ["import org.springframework.web.bind.annotation.DeleteMapping;"],
  .line ["import org.springframework.web.bind.annotation.GetMapping;"],
  .line ["import org.springframework.web.bind.annotation.PathVariable;"],
  .line ["import org.springframework.web.bind.annotation.PostMapping;"],
  .line ["import org.springframework.web.bind.annotation.PutMapping;"],
  .line ["import org.springframework.web.bind.annotation.RequestBody;"],
  .line ["import org.springframework.web.bind.annotation.RequestMapping;"],
  .line ["import org.springframework.web.bind.annotation.RestController;"],
  .line [],
  .line ["import java.util.List;"],
  .line [],
  .line ["@RestController"],
  .line ["@CrossOrigin(origins = \"", .slot "frontend_origin", "\")"],
  .line ["@RequestMapping(\"/", .slot "route_segment", "\")"],
  .line ["public class ", .slot "class_name", "Controller \x7b"],
  .line [],
  .line ["    private final ", .slot "class_name", "Service ", .slot "variable", "Service;"],
  .line [],
  .line ["    public ", .slot "class_name", "Controller(", .slot "class_name", "Service ",
    .slot "variable", "Service) \x7b"],
  .line ["        this.", .slot "variable", "Service = ", .slot "variable", "Service;"],
  .line ["    \x7d"],
  .line [],
  .line ["    @GetMapping"],
  .line ["    public ResponseEntity<List<", .slot "class_name", ">> list() \x7b"],
  .line ["        return ResponseEntity.ok(", .slot "variable", "Service.findAll());"],
  .line ["    \x7d"],
  .line [],
  .line ["    @GetMapping(\"/\x7bid\x7d\")"],
  .line ["    public ResponseEntity<", .slot "class_name", "> get(@PathVariable Long id) \x7b"],
  .line ["        return ResponseEntity.ok(", .slot "variable", "Service.findById(id));"],
  .line ["    \x7d"],
  .line [],
  .line ["    @PostMapping"],
  .line ["    public ResponseEntity<", .slot "class_name", "> create(@RequestBody ",
    .slot "class_name", " ", .slot "variable", ") \x7b"],
  .line ["        ", .slot "variable", ".setId(null);"],
  .line ["        return ResponseEntity.status(HttpStatus.CREATED).body(", .slot "variable",
    "Service.save(", .slot "variable", "));"],
  .line ["    \x7d"],
  .line [],
  .line ["    @PutMapping(\"/\x7bid\x7d\")"],
  .line ["    public ResponseEntity<", .slot "class_name",
    "> update(@PathVariable Long id, @RequestBody ", .slot "class_name", " ", .slot "variable",
    ") \x7b"],
  .line ["        ", .slot "variable", ".setId(id);"],
  .line ["        return ResponseEntity.ok(", .slot "variable", "Service.update(id, ",
    .slot "variable", "));"],
  .line ["    \x7d"],
  .line [],
  .line ["    @DeleteMapping(\"/\x7bid\x7d\")"],
  .line ["    public ResponseEntity<Void> delete(@PathVariable Long id) \x7b"],
  .line ["        ", .slot "variable", "Service.deleteById(id);"],
  .line ["        return ResponseEntity.noContent().build();"],
  .line ["    \x7d"],
  .line ["\x7d"]]⟩

end CrudStack.Template.Backend
